import ChangeLint.Act

/-! # Following attempts

What an attempt comes to when the outcome of its first part is known, and how an attempt in a
part of the world is carried out in the whole of it. -/

namespace ChangeLint

/-! ## Section 1: Replies -/

namespace Reply

/-- The reply when some events happened before. -/
def behind (events : List Event) (reply : Reply W α) : Reply W α :=
  ⟨reply.answer, reply.world, events ++ reply.events⟩

/-- The reply with its answer reshaped, unless that is a failure. -/
def reshape (f : α → β) (reply : Reply W (Except Error α)) : Reply W (Except Error β) :=
  ⟨reply.answer.map f, reply.world, reply.events⟩

@[simp] theorem behind_mk (before events : List Event) (a : α) (world : W) :
    behind before ⟨a, world, events⟩ = ⟨a, world, before ++ events⟩ := rfl

@[simp] theorem behind_nil (reply : Reply W α) : behind [] reply = reply := rfl

@[simp] theorem behind_behind (a b : List Event) (reply : Reply W α) :
    behind a (behind b reply) = behind (a ++ b) reply := by
  simp [behind]

@[simp] theorem answer_behind (events : List Event) (reply : Reply W α) :
    (behind events reply).answer = reply.answer := rfl

@[simp] theorem reshape_ok (f : α → β) (a : α) (world : W) (events : List Event) :
    reshape f ⟨.ok a, world, events⟩ = ⟨.ok (f a), world, events⟩ := rfl

@[simp] theorem reshape_error (f : α → β) (error : Error) (world : W) (events : List Event) :
    reshape f ⟨.error error, world, events⟩ = ⟨.error error, world, events⟩ := rfl

@[simp] theorem reshape_behind (f : α → β) (events : List Event)
    (reply : Reply W (Except Error α)) :
    reshape f (behind events reply) = behind events (reshape f reply) := rfl

@[simp] theorem reshape_reshape (f : α → β) (g : β → γ) (reply : Reply W (Except Error α)) :
    reshape g (reshape f reply) = reshape (g ∘ f) reply := by
  obtain ⟨answer, world, events⟩ := reply
  cases answer <;> rfl

theorem reshape_id (reply : Reply W (Except Error α)) : reshape id reply = reply := by
  obtain ⟨answer, world, events⟩ := reply
  cases answer <;> rfl

end Reply

/-! ## Section 2: Attempts in sequence -/

namespace Attempt

/-- Attempts with the same replies in all worlds are the same. -/
theorem ext {a b : Attempt W α} (h : ∀ world, a.run world = b.run world) : a = b :=
  funext h

/-- If the first part succeeds, the attempt goes on with its answer, in the world that it
left. -/
theorem run_bind_of_ok {attempt : Attempt W α} {next : α → Attempt W β} {world between : W}
    {a : α} {events : List Event} (h : attempt.run world = ⟨.ok a, between, events⟩) :
    (attempt >>= next).run world = ((next a).run between).behind events := by
  rw [run_bind, h]
  rfl

/-- If the first part fails, so does the attempt, and it ends there. -/
theorem run_bind_of_error {attempt : Attempt W α} {next : α → Attempt W β} {world between : W}
    {error : Error} {events : List Event}
    (h : attempt.run world = ⟨.error error, between, events⟩) :
    (attempt >>= next).run world = ⟨.error error, between, events⟩ := by
  rw [run_bind, h]

/-- If the attempt succeeds, so does its first part. -/
theorem ok_of_run_bind {attempt : Attempt W α} {next : α → Attempt W β} {world : W} {b : β}
    (h : ((attempt >>= next).run world).answer = .ok b) :
    ∃ a between events, attempt.run world = ⟨.ok a, between, events⟩ ∧
      ((next a).run between).answer = .ok b := by
  cases hfirst : attempt.run world with
  | mk answer between events =>
    -- A failure of the first part would be the answer of the whole.
    cases answer with
    | error error =>
      rw [run_bind_of_error hfirst] at h
      cases h
    | ok a =>
      rw [run_bind_of_ok hfirst] at h
      exact ⟨a, between, events, rfl, h⟩

/-- An attempt whose answer is only reshaped does what it does without that. -/
theorem run_bind_pure (f : α → β) (attempt : Attempt W α) (world : W) :
    (attempt >>= fun a => pure (f a)).run world = (attempt.run world).reshape f := by
  cases h : attempt.run world with
  | mk answer between events =>
    cases answer with
    | error error => rw [run_bind_of_error h, Reply.reshape_error]
    -- The second part leaves nothing behind.
    | ok a => rw [run_bind_of_ok h, run_pure, Reply.behind_mk, List.append_nil, Reply.reshape_ok]

/-- An act does what the attempt does that is this act. -/
theorem run_of_run_ofAct {act : Act W α} {world after : W} {a : α} {events : List Event}
    (h : (ofAct act).run world = ⟨.ok a, after, events⟩) : act.run world = ⟨a, after, events⟩ := by
  rw [run_ofAct] at h
  obtain ⟨hanswer, hworld, hevents⟩ := Reply.mk.inj h
  rw [← Except.ok.inj hanswer, ← hworld, ← hevents]

/-! ## Section 3: Attempts in a part of the world -/

/-- An attempt in a part of the world leaves the rest of it alone. -/
theorem run_within (part : S → W) (put : W → S → S) (attempt : Attempt W α) (whole : S) :
    (within part put attempt).run whole =
      let reply := attempt.run (part whole)
      ⟨reply.answer, put reply.world whole, reply.events⟩ := rfl

/-- Two attempts in one part of the world are one attempt there. -/
theorem within_bind {part : S → W} {put : W → S → S}
    (hpart : ∀ world whole, part (put world whole) = world)
    (hput : ∀ a b whole, put a (put b whole) = put a whole)
    (attempt : Attempt W α) (next : α → Attempt W β) :
    within part put (attempt >>= next)
      = within part put attempt >>= fun a => within part put (next a) := by
  apply ext
  intro whole
  rw [run_within, run_bind, run_bind, run_within]
  -- The second attempt sees the part as the first one left it, and its result is put over that of
  -- the first.
  cases h : (attempt.run (part whole)).answer with
  | error error => simp only [h]
  | ok a => simp only [h, run_within, hpart, hput]

end Attempt

end ChangeLint
