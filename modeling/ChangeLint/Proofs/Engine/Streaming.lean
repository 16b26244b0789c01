import ChangeLint.Proofs.Engine.Visits

/-! # Attempts that stream to a report

The engine never looks at its sink.  So what an attempt puts on the report is decided before
the sink is known, and a sink can do two things only: take all of it, or take as much as fits
and end the attempt there.

* `Streams` says what an attempt comes to on every sink.
* `Streams.bind` and `Streams.bind_error` follow it through a sequence.
* `Engine.streams_report` says that the report of a file streams its block. -/

namespace ChangeLint

open Report (Sink Limit Style)

/-! ## Section 1: Sinks that fill up -/

namespace Report.Sink

/-- A write that does not fit leaves what fits. -/
theorem run_writeBytes_of_full {bytes : List UInt8} {limit : Limit} (written : List UInt8)
    (h : limit.room < bytes.length) :
    (writeBytes bytes).run ⟨written, some limit, none⟩
      = ⟨.error (.io limit.fault),
          ⟨written ++ bytes.take limit.room, some ⟨0, limit.fault⟩, none⟩, []⟩ := by
  have hroom : limit.room - bytes.length = 0 := by omega
  have hfull : ¬ bytes.length ≤ limit.room := by omega
  simp [writeBytes, Attempt.run, Attempt.mk, Act.run, ExceptT.run, ExceptT.mk, hroom, hfull]

theorem hasRoom_limited {written bytes : List UInt8} {limit : Limit}
    {flushFault : Option String} :
    HasRoom ⟨written, some limit, flushFault⟩ bytes ↔ bytes.length ≤ limit.room := by
  constructor
  · intro h
    exact h limit rfl
  · intro h other hother
    cases hother
    exact h

/-- A sink without limit has room for everything. -/
theorem hasRoom_of_no_limit {sink : Sink} (h : sink.limit = none) (bytes : List UInt8) :
    sink.HasRoom bytes := by
  intro limit hlimit
  rw [h] at hlimit
  cases hlimit

end Report.Sink

/-! ## Section 2: Streaming -/

/-- From a world on, the attempt comes to an answer, leaves a world and a trace, and puts some
bytes on the report.  A sink that takes them sees all of that.  A sink that fills up before takes
the bytes that fit, fails with its own fault, and sees the start of the trace. -/
structure Streams (attempt : Attempt (Session W) α) (world : W) (answer : Except Error α)
    (last : W) (bytes : List UInt8) (events : List Event) : Prop where
  fits (sink : Sink) (room : sink.HasRoom bytes) (flush : sink.flushFault = none) :
    attempt.run ⟨world, sink⟩ = ⟨answer, ⟨last, sink.after bytes⟩, events⟩
  cut (written : List UInt8) (limit : Limit) (full : limit.room < bytes.length) :
    ∃ between front, front <+: events ∧
      attempt.run ⟨world, ⟨written, some limit, none⟩⟩
        = ⟨.error (.io limit.fault),
            ⟨between, ⟨written ++ bytes.take limit.room, some ⟨0, limit.fault⟩, none⟩⟩, front⟩

namespace Streams

section

variable {attempt : Attempt (Session W) α} {next : α → Attempt (Session W) β}
  {world between last : W} {bytes more : List UInt8} {events rest : List Event}

/-- An attempt that leaves the sink alone streams nothing. -/
theorem of_run {answer : Except Error α}
    (h : ∀ sink, attempt.run ⟨world, sink⟩ = ⟨answer, ⟨last, sink⟩, events⟩) :
    Streams attempt world answer last [] events where
  fits sink _ _ := by rw [h, Sink.after_nil]
  -- No sink is too full for no bytes.
  cut _ _ full := absurd full (Nat.not_lt_zero _)

/-- What is streamed one part after the other is streamed in one. -/
theorem bind {a : α} {answer : Except Error β}
    (h : Streams attempt world (.ok a) between bytes events)
    (hnext : Streams (next a) between answer last more rest) :
    Streams (attempt >>= next) world answer last (bytes ++ more) (events ++ rest) where
  fits sink room flush := by
    have hfirst := h.fits sink room.of_append_left flush
    have hsecond := hnext.fits (sink.after bytes) room.of_append_right flush
    rw [Attempt.run_bind_of_ok hfirst, hsecond, Reply.behind_mk, Sink.after_append]
  cut written limit full := by
    rw [List.length_append] at full
    -- Either the first part fills the sink, or it fits and the second part does.
    by_cases hfits : bytes.length ≤ limit.room
    · have hfirst := h.fits ⟨written, some limit, none⟩ (Sink.hasRoom_limited.mpr hfits) rfl
      have hless : limit.room - bytes.length < more.length := by omega
      obtain ⟨stop, front, hfront, hsecond⟩ :=
        hnext.cut (written ++ bytes) ⟨limit.room - bytes.length, limit.fault⟩ hless
      refine ⟨stop, events ++ front, (List.prefix_append_right_inj events).mpr hfront, ?_⟩
      have hafter : Sink.after ⟨written, some limit, none⟩ bytes
          = ⟨written ++ bytes, some ⟨limit.room - bytes.length, limit.fault⟩, none⟩ := rfl
      -- The sink holds all of the first part and as much of the second one as is left room for.
      have htake : (bytes ++ more).take limit.room
          = bytes ++ more.take (limit.room - bytes.length) := by
        rw [List.take_append, List.take_of_length_le hfits]
      rw [Attempt.run_bind_of_ok hfirst, hafter, hsecond, Reply.behind_mk, htake,
        List.append_assoc]
    · have hless : limit.room < bytes.length := by omega
      obtain ⟨stop, front, hfront, hfirst⟩ := h.cut written limit hless
      have htake : (bytes ++ more).take limit.room = bytes.take limit.room :=
        List.take_append_of_le_length (by omega)
      refine ⟨stop, front, hfront.trans (List.prefix_append events rest), ?_⟩
      rw [Attempt.run_bind_of_error hfirst, htake]

/-- Nothing is streamed behind a failure. -/
theorem bind_error {error : Error}
    (h : Streams attempt world (.error error) last bytes events) :
    Streams (attempt >>= next) world (.error error) last bytes events where
  fits sink room flush := Attempt.run_bind_of_error (h.fits sink room flush)
  cut written limit full := by
    obtain ⟨stop, front, hfront, hrun⟩ := h.cut written limit full
    exact ⟨stop, front, hfront, Attempt.run_bind_of_error hrun⟩

end

theorem pure_ok (a : α) (world : W) :
    Streams (pure a : Attempt (Session W) α) world (.ok a) world [] [] :=
  of_run fun _ => rfl

/-- What is only computed from an answer streams nothing more. -/
theorem bind_pure {attempt : Attempt (Session W) α} {world last : W} {bytes : List UInt8}
    {events : List Event} {a : α} (h : Streams attempt world (.ok a) last bytes events)
    (f : α → β) :
    Streams (attempt >>= fun a => pure (f a)) world (.ok (f a)) last bytes events := by
  -- The computation streams the empty list of bytes.
  have hall : Streams (attempt >>= fun a => pure (f a)) world (.ok (f a)) last (bytes ++ [])
      (events ++ []) := h.bind (pure_ok (f a) last)
  rwa [List.append_nil, List.append_nil] at hall

end Streams

/-! ## Section 3: The parts of a check -/

namespace Session

/-- A question that is put to the world streams nothing, also if it fails. -/
theorem streams_ask {query : Query} {attempt : Attempt W α} {world after : W}
    {answer : Except Error α} {within : List Event}
    (h : attempt.run world = ⟨answer, after, within⟩) :
    Streams (ask query attempt) world answer after [] (.asked query :: within) := by
  apply Streams.of_run
  intro sink
  rw [run_ask, h]

end Session

namespace Engine

theorem streams_log (level : Level) (text : String) (world : W) :
    Streams (log level text : Attempt (Session W) Unit) world (.ok ()) world []
      [.logged ⟨level, .engine, text⟩] :=
  Streams.of_run fun sink => run_log level text (⟨world, sink⟩ : Session W)

theorem streams_write (line : String) (world : W) :
    Streams (Session.onSink (Sink.write line)) world (.ok ()) world (Text.Utf8.bytes line) []
    where
  -- A line either fits or fills the sink, and the world is as it was.
  fits sink room _ := by
    rw [Session.run_onSink, Sink.write, Sink.run_writeBytes_of_hasRoom room]
  cut written limit full := by
    refine ⟨world, [], List.nil_prefix, ?_⟩
    rw [Session.run_onSink, Sink.write, Sink.run_writeBytes_of_full written full]

/-- Lines are streamed one after the other. -/
theorem streams_writeAll (lines : List String) (world : W) :
    Streams (Session.onSink (Style.writeAll lines)) world (.ok ()) world (Style.bytesOf lines)
      [] := by
  -- By induction on the lines, with the rule for a sequence as its step.
  induction lines with
  | nil => exact Streams.pure_ok () world
  | cons line lines ih =>
    have hbytes : Style.bytesOf (line :: lines) = Text.Utf8.bytes line ++ Style.bytesOf lines :=
      List.flatMap_cons
    rw [Style.writeAll, Session.onSink_bind, hbytes]
    exact (streams_write line world).bind ih

/-- A flush streams nothing. -/
theorem streams_flush (world : W) :
    Streams (Session.onSink Sink.flush) world (.ok ()) world [] [] where
  fits sink _ flush := by
    rw [Session.run_onSink, Sink.run_flush_of_none flush, Sink.after_nil]
  cut _ _ full := absurd full (Nat.not_lt_zero _)

/-- The two calls that report a file stream its block. -/
theorem streams_report (style : Style) (file : String) (findings : List Finding) (world : W) :
    Streams (Session.onSink (do reportKept style findings; style.fileFinished file findings))
      world (.ok ()) world (Style.bytesOf (style.block file findings)) [] := by
  rw [Style.reportKept_fileFinished, Session.onSink_bind]
  -- The block is written and then flushed, which adds nothing.
  have hwrite := streams_writeAll (style.block file findings) world
  rw [← List.append_nil (Style.bytesOf _), ← List.append_nil ([] : List Event)]
  exact hwrite.bind (streams_flush world)

end Engine

end ChangeLint
